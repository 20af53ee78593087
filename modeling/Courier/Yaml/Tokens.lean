import Courier.Yaml.Property
import Courier.Yaml.Readable
import Courier.Yaml.Scalar.Block
import Courier.Yaml.Scalar.Plain

/-!
# From text to tokens

Text is cut into tokens from front to back. Whether a node is the key of a mapping shows only at
the colon behind it, so a token that may begin a key is held back until this is settled: a key
stands on one line and is at most 1024 bytes long. Tokens that were let go before the text turns
out to be malformed count; those that were still held back are lost.

The indentation of the innermost block is kept as a margin, the least column at which its text
may stand; outside all blocks it is zero.
-/

namespace Courier.Yaml

/-- A node that may turn out to be a key. -/
structure KeyCandidate where
  /-- How many tokens precede it. -/
  number : Nat
  /-- Whether anything but a key is an error here. -/
  required : Bool
  place : Place
  index : Nat
deriving Repr

/-- How far a text has been cut into tokens. -/
structure Scan where
  cursor : Cursor
  /-- Tokens that are held back, in order. -/
  held : List PlacedToken
  /-- The number of tokens that were let go. -/
  released : Nat
  /-- The margin of the innermost block. -/
  margin : Nat
  /-- The margins of the blocks around it. -/
  outer : List Nat
  /-- Whether a key may start here. -/
  keyAllowed : Bool
  /-- What may be the next key outside all brackets. -/
  key : Option KeyCandidate
  /-- The same inside each bracket, where it is innermost, and around it. -/
  brackets : List (Option KeyCandidate)
  /-- Whether the end of the text has become a token. -/
  ended : Bool
deriving Repr

namespace Scan

/-- The start of a text, which may be cut off. -/
def start (text : List Char) (cut : Bool) : Scan :=
  ⟨Cursor.start text cut, [], 0, 0, [], true, none, [], false⟩

/-- Whether the cursor is inside brackets. -/
def flow (s : Scan) : Bool := !s.brackets.isEmpty

/-- Stop at the cursor. -/
def stop {α : Type} (s : Scan) (what : Malformed) : Except Flaw α := s.cursor.stop what

/-- Hold back one more token. -/
def push (s : Scan) (token : Token) (place : Place) : Scan :=
  { s with held := s.held ++ [(token, place)] }

/-- Put a token in front of the one with some number. -/
def insertAt (s : Scan) (number : Nat) (token : Token) (place : Place) : Scan :=
  let position := number - s.released
  { s with held := s.held.take position ++ (token, place) :: s.held.drop position }

/-! ## Keys -/

/-- Give up a candidate that lies on an earlier line or too far back. -/
def refresh (c : Cursor) (candidate : Option KeyCandidate) : Except Flaw (Option KeyCandidate) :=
  match candidate with
  | none => .ok none
  | some k =>
    if k.place.line < c.line || k.index + 1024 < c.index then
      if k.required then c.stop .keyWithoutValue else .ok none
    else .ok (some k)

/-- Give up all candidates that are too old. -/
def refreshKeys (s : Scan) : Except Flaw Scan := do
  let key ← refresh s.cursor s.key
  let brackets ← s.brackets.mapM (refresh s.cursor)
  return { s with key, brackets }

/-- The candidate inside the innermost bracket. -/
def currentKey (s : Scan) : Option KeyCandidate :=
  match s.brackets with
  | [] => s.key
  | k :: _ => k

/-- Set the candidate inside the innermost bracket. -/
def setKey (s : Scan) (key : Option KeyCandidate) : Scan :=
  match s.brackets with
  | [] => { s with key }
  | _ :: rest => { s with brackets := key :: rest }

/-- Give up the candidate inside the innermost bracket. -/
def dropKey (s : Scan) : Except Flaw Scan :=
  match s.currentKey with
  | some k => if k.required then s.stop .keyWithoutValue else .ok (s.setKey none)
  | none => .ok s

/-- Take what follows for a candidate, if a key may start here. -/
def markKey (s : Scan) : Except Flaw Scan :=
  if s.keyAllowed then
    s.dropKey.map fun s =>
      s.setKey (some ⟨s.released + s.held.length, !s.flow && s.margin = s.cursor.column + 1,
        s.cursor.place, s.cursor.index⟩)
  else .ok s

/-! ## Blocks -/

/-- Open a block at a column, if it is not the column of the innermost block. -/
def openBlock (s : Scan) (column : Nat) (number : Nat) (token : Token) (place : Place) : Scan :=
  if !s.flow && s.margin ≤ column then
    { s with margin := column + 1, outer := s.margin :: s.outer }.insertAt number token place
  else s

/-- Open a block at the cursor. -/
def openBlockHere (s : Scan) (token : Token) : Scan :=
  s.openBlock s.cursor.column (s.released + s.held.length) token s.cursor.place

/-- Close blocks, from the inside, whose margin is greater than `margin`. -/
def closeBlocksIn (margin : Nat) : List Nat → Scan → Scan
  | [], s => s
  | next :: outer, s =>
    if margin < s.margin then
      closeBlocksIn margin outer { s.push .blockEnd s.cursor.place with margin := next, outer }
    else s

/-- Close all blocks that do not reach to some margin; inside brackets there is none to close. -/
def closeBlocks (s : Scan) (margin : Nat) : Scan :=
  if s.flow then s else closeBlocksIn margin s.outer s

/-! ## Tokens -/

/--
Pass blanks, comments and line breaks, behind which a key may start outside brackets, and a byte
order mark in front of each line.
-/
def skipToToken : Nat → Scan → Scan
  | 0, s => s
  | fuel + 1, s =>
    let c := s.cursor.skipByteOrderMark
    let c := c.skipWhile fun x => x = ' ' || (x = '\t' && (s.flow || !s.keyAllowed))
    let c := c.skipComment
    if isBreak c.head then
      skipToToken fuel { s with cursor := c.skipBreak, keyAllowed := s.keyAllowed || !s.flow }
    else { s with cursor := c }

/-- Take an indicator of some length for a token. -/
def take (s : Scan) (length : Nat) (token : Token) : Scan :=
  { s.push token s.cursor.place with cursor := s.cursor.skip length }

/-- Set whether a key may start here. -/
def allowKey (s : Scan) (allowed : Bool) : Scan := { s with keyAllowed := allowed }

/-- The end of the text. -/
def takeEnd (s : Scan) : Except Flaw Scan := do
  let c := s.cursor
  let c := if c.column = 0 then c else { c with line := c.line + 1, column := 0 }
  let s ← ({ s with cursor := c }.closeBlocks 0).dropKey
  return { s.allowKey false with ended := true }.push .textEnd c.place

/-- A directive. -/
def takeDirective (s : Scan) : Except Flaw Scan := do
  let s ← (s.closeBlocks 0).dropKey
  let (token, c) ← readDirective s.cursor
  return { (s.allowKey false).push token s.cursor.place with cursor := c }

/-- A line that separates documents. -/
def takeDocumentMark (s : Scan) (token : Token) : Except Flaw Scan := do
  let s ← (s.closeBlocks 0).dropKey
  return (s.allowKey false).take 3 token

/-- An opening bracket. -/
def takeOpening (s : Scan) (token : Token) : Except Flaw Scan := do
  let s ← s.markKey
  return ({ s with brackets := none :: s.brackets }.allowKey true).take 1 token

/-- A closing bracket. -/
def takeClosing (s : Scan) (token : Token) : Except Flaw Scan := do
  let s ← s.dropKey
  return ({ s with brackets := s.brackets.tail }.allowKey false).take 1 token

/-- A comma. -/
def takeFlowEntry (s : Scan) : Except Flaw Scan := do
  let s ← s.dropKey
  return (s.allowKey true).take 1 .flowEntry

/-- The dash in front of an item. -/
def takeBlockEntry (s : Scan) : Except Flaw Scan := do
  if !s.flow && !s.keyAllowed then s.stop .blockEntryNotAllowed
  else
    let s ← (s.openBlockHere .blockSequenceStart).dropKey
    return (s.allowKey true).take 1 .blockEntry

/-- The question mark in front of a key. -/
def takeKey (s : Scan) : Except Flaw Scan := do
  if !s.flow && !s.keyAllowed then s.stop .keyNotAllowed
  else
    let s ← (s.openBlockHere .blockMappingStart).dropKey
    return (s.allowKey !s.flow).take 1 .key

/-- The colon in front of a value, which makes a key of the candidate, if there is one. -/
def takeValue (s : Scan) : Except Flaw Scan :=
  match s.currentKey with
  | some k =>
    let s := s.insertAt k.number .key k.place
    let s := s.openBlock k.place.column k.number .blockMappingStart k.place
    .ok (((s.setKey none).allowKey false).take 1 .value)
  | none =>
    if !s.flow && !s.keyAllowed then s.stop .valueNotAllowed
    else .ok (((s.openBlockHere .blockMappingStart).allowKey !s.flow).take 1 .value)

/-- A token that a reader gives, and that may begin a key. -/
def takeRead (s : Scan) (read : Cursor → Except Flaw (Token × Cursor)) : Except Flaw Scan := do
  let s ← s.markKey
  let (token, c) ← read s.cursor
  return { (s.allowKey false).push token s.cursor.place with cursor := c }

/-- A quoted scalar. -/
def takeQuoted (s : Scan) (single : Bool) : Except Flaw Scan :=
  s.takeRead fun c => do
    let (text, c) ← Quoted.read single c
    return (.scalar (if single then .singleQuoted else .doubleQuoted) (String.ofList text), c)

/-- A block scalar. -/
def takeBlockScalar (s : Scan) (literal : Bool) : Except Flaw Scan := do
  let s ← s.dropKey
  let (text, c) ← Block.read literal s.margin s.cursor
  let token := Token.scalar (if literal then .literal else .folded) (String.ofList text)
  return { (s.allowKey true).push token s.cursor.place with cursor := c }

/-- A plain scalar. -/
def takePlain (s : Scan) : Except Flaw Scan := do
  let s ← s.markKey
  let (text, newLine, c) ← Plain.read s.flow s.margin s.cursor
  let token := Token.scalar .plain (String.ofList text)
  return { (s.allowKey newLine).push token s.cursor.place with cursor := c }

/-- The characters that never start a plain scalar. -/
def isIndicator (c : Char) : Bool :=
  Plain.isFlowIndicator c || ['-', '?', ':', '#', '&', '*', '!', '|', '>', '\'', '"', '%',
    '@'].contains c || c.toNat = 0x60

/-- Whether a plain scalar starts here. -/
def startsPlain (s : Scan) : Bool :=
  let c := s.cursor.head
  let next := s.cursor.peek 1
  !(isGapOrEnd c || isIndicator c) || (c = '-' && !isBlank next)
    || (!s.flow && (c = '?' || c = ':') && !isGapOrEnd next)

/-- Take the token at the cursor. -/
def takeToken (s : Scan) : Except Flaw Scan :=
  let c := s.cursor.head
  let next := s.cursor.peek 1
  let beforeGap := isGapOrEnd next
  if s.cursor.rest.isEmpty then s.takeEnd
  else if c = '%' && s.cursor.column = 0 then s.takeDirective
  else if s.cursor.atMark '-' then s.takeDocumentMark .documentStart
  else if s.cursor.atMark '.' then s.takeDocumentMark .documentEnd
  else if c = '[' then s.takeOpening .flowSequenceStart
  else if c = '{' then s.takeOpening .flowMappingStart
  else if c = ']' then s.takeClosing .flowSequenceEnd
  else if c = '}' then s.takeClosing .flowMappingEnd
  else if c = ',' then s.takeFlowEntry
  else if c = '-' && beforeGap then s.takeBlockEntry
  else if c = '?' && (s.flow || beforeGap) then s.takeKey
  else if c = ':' && (s.flow || beforeGap) then s.takeValue
  else if c = '*' then
    s.takeRead fun c => (readAnchor (c.skip 1)).map fun (name, c) => (.alias name, c)
  else if c = '&' then
    s.takeRead fun c => (readAnchor (c.skip 1)).map fun (name, c) => (.anchor name, c)
  else if c = '!' then s.takeRead (readTag s.flow)
  else if c = '|' && !s.flow then s.takeBlockScalar true
  else if c = '>' && !s.flow then s.takeBlockScalar false
  else if c = '\'' then s.takeQuoted true
  else if c = '"' then s.takeQuoted false
  else if s.startsPlain then s.takePlain
  else s.stop .noTokenStart

/-- Go to the next token and take it. -/
def advance (s : Scan) : Except Flaw Scan := do
  let s ← (skipToToken (s.cursor.size + 1) s).refreshKeys
  s.cursor.reach 4
  (s.closeBlocks (s.cursor.column + 1)).takeToken

/-! ## Letting go -/

/-- Whether the first token that is held back may begin a key. -/
def holdsKey (s : Scan) : Bool :=
  (s.key :: s.brackets).any fun k => k.any fun k => k.number = s.released

/-- Let go the tokens in front of the first one that may begin a key. -/
def release (s : Scan) : List PlacedToken → List PlacedToken × Scan
  | [] => ([], { s with held := [] })
  | token :: rest =>
    if s.holdsKey then ([], { s with held := token :: rest })
    else
      let (out, s) := release { s with released := s.released + 1 } rest
      (token :: out, s)

/-- Let go all tokens up to the end of the text or to a flaw. -/
def run : Nat → Scan → List PlacedToken × Option Flaw
  | 0, _ => ([], none)
  | fuel + 1, s =>
    match s.refreshKeys with
    | .error flaw => ([], some flaw)
    | .ok s =>
      let (out, s) := s.release s.held
      if s.ended then (out, none)
      else
        match s.advance with
        | .error flaw => (out, some flaw)
        | .ok s =>
          let (more, flaw) := run fuel s
          (out ++ more, flaw)

end Scan

/-- The tokens of a text, and the flaw that ended them, if one did. -/
def tokens (text : String) : List PlacedToken × Option Flaw :=
  let (chars, cut) := readable text
  Scan.run (chars.length + 3) (Scan.start chars cut)

end Courier.Yaml
