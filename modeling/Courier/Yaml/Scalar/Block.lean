import Courier.Yaml.Cursor

/-!
# Block scalars

A block scalar is a block of lines behind an indicator. Its header can state the indentation and
what becomes of the line breaks at the end: one of them is kept, or none, or all. The literal
form keeps the line breaks between lines; the folded form joins lines with a space, unless one of
them starts with a blank.
-/

namespace Courier.Yaml.Block

/-- What becomes of the line breaks at the end of the block. -/
inductive Chomping where
  | clip
  | strip
  | keep
deriving DecidableEq, Repr

/-- Read a chomping indicator, if there is one. -/
def readChomping (c : Cursor) : Option (Chomping × Cursor) :=
  if c.head = '+' then some (.keep, c.skip 1)
  else if c.head = '-' then some (.strip, c.skip 1)
  else none

/-- Read an indentation indicator, if there is one. -/
def readIndentation (c : Cursor) : Except Flaw (Option Nat × Cursor) :=
  if c.head = '0' then c.stop .indentationZero
  else if c.head.isDigit then .ok (some (c.head.toNat - 48), c.skip 1)
  else .ok (none, c)

/-- Read the indicators of a header, in either order. -/
def readIndicators (c : Cursor) : Except Flaw (Chomping × Option Nat × Cursor) := do
  match readChomping c with
  | some (chomping, c) =>
    let (indentation, c) ← readIndentation c
    return (chomping, indentation, c)
  | none =>
    let (indentation, c) ← readIndentation c
    match indentation, readChomping c with
    | some n, some (chomping, c) => return (chomping, some n, c)
    | _, _ => return (.clip, indentation, c)

/-- Pass what may follow the indicators of a header. -/
def skipHeaderEnd (c : Cursor) : Except Flaw Cursor :=
  let c := (c.skipWhile isBlank).skipComment
  if isBreakOrEnd c.head then .ok c.skipOptionalBreak else c.stop .directiveEnd

/--
Read empty lines, and the indentation of the line that follows, up to a column if there is one:
the text of the line breaks, and the greatest column that was reached.
-/
def readEmptyLines (indent : Option Nat) :
    Nat → Nat → Cursor → Except Flaw (List Char × Nat × Cursor)
  | 0, deepest, c => .ok ([], deepest, c)
  | fuel + 1, deepest, c =>
    let spaces := (c.rest.takeWhile (· = ' ')).length
    let c := c.skip (match indent with
      | none => spaces
      | some column => min spaces (column - c.column))
    let deepest := max deepest c.column
    if c.head = '\t' && indent.all (c.column < ·) then c.stop .indentationTab
    else if isBreak c.head then
      match readEmptyLines indent fuel deepest c.skipBreak with
      | .error flaw => .error flaw
      | .ok (breaks, deepest, c') => .ok (breakText c.head :: breaks, deepest, c')
    else .ok ([], deepest, c)

/-- What a line of a block and the line breaks behind it leave for the next line. -/
structure Ending where
  /-- The line break behind the line. -/
  lastBreak : List Char
  /-- The line breaks of the empty lines behind it. -/
  emptyLines : List Char
  /-- Whether the line starts with a blank. -/
  startsBlank : Bool

/-- What stands between a line and the next one. -/
def Ending.glue (ending : Ending) (literal nextStartsBlank : Bool) : List Char :=
  if !literal && ending.lastBreak = ['\n'] && !ending.startsBlank && !nextStartsBlank then
    if ending.emptyLines.isEmpty then [' '] else ending.emptyLines
  else ending.lastBreak ++ ending.emptyLines

/-- What stands behind the last line. -/
def Ending.finish (ending : Ending) : Chomping → List Char
  | .strip => []
  | .clip => ending.lastBreak
  | .keep => ending.lastBreak ++ ending.emptyLines

/-- Read the lines that start at a column: their text, and what the last one leaves. -/
def readLines (literal : Bool) (column : Nat) :
    Nat → Ending → Cursor → Except Flaw (List Char × Ending × Cursor)
  | 0, ending, c => .ok ([], ending, c)
  | fuel + 1, ending, c => do
    if c.column = column && !c.rest.isEmpty then
      let line := c.rest.takeWhile fun x => !isBreakOrEnd x
      let startsBlank := isBlank c.head
      let front := ending.glue literal startsBlank ++ line
      let c := c.skip line.length
      let lastBreak := if isBreak c.head then [breakText c.head] else []
      let (emptyLines, _, c) ← readEmptyLines (some column) (c.size + 1) 0 c.skipOptionalBreak
      let (more, ending, c) ← readLines literal column fuel ⟨lastBreak, emptyLines, startsBlank⟩ c
      return (front ++ more, ending, c)
    else return ([], ending, c)

/-- Read a block scalar from its indicator on, inside a block whose text starts at `margin`. -/
def read (literal : Bool) (margin : Nat) (c : Cursor) : Except Flaw (List Char × Cursor) := do
  let (chomping, indentation, c) ← readIndicators (c.skip 1)
  let c ← skipHeaderEnd c
  let stated := indentation.map fun n => margin - 1 + n
  let (emptyLines, deepest, c) ← readEmptyLines stated (c.size + 1) 0 c
  let column := stated.getD (max deepest (max margin 1))
  let (text, ending, c) ← readLines literal column (c.size + 1) ⟨[], emptyLines, false⟩ c
  c.reach 1
  return (text ++ ending.finish chomping, c)

end Courier.Yaml.Block
