import Courier.Yaml.Cursor

/-!
# Gaps between the words of a scalar

Between two words of a plain or quoted scalar stands a gap: blanks alone, which are kept, or line
breaks, which are folded. Of a folded gap the first line break becomes a space if no other one
follows, and nothing if others follow, which are kept; a first break that is a Unicode separator
is kept too. Blanks in front of and behind a line break do not count.
-/

namespace Courier.Yaml

/-- What stands between two words. -/
inductive Gap where
  /-- Blanks in a line. -/
  | blanks (text : List Char)
  /-- Line breaks: what the first one reads as, if it counts, and what the others read as. -/
  | breaks (first : Option Char) (others : List Char)
deriving DecidableEq, Repr

namespace Gap

/-- Nothing between two words. -/
def none : Gap := .blanks []

/-- Whether a line ends in a gap. -/
def isBroken : Gap → Bool
  | .blanks _ => false
  | .breaks _ _ => true

/-- What a gap reads as. -/
def text : Gap → List Char
  | .blanks text => text
  | .breaks Option.none others => others
  | .breaks (some c) others =>
    if c = '\n' then if others.isEmpty then [' '] else others else c :: others

/--
Read the line breaks that follow a line break, and the blanks around them. Below the column
`margin` a tab must not stand in front of the words of a line.
-/
def readBreaks (margin : Nat) : Nat → Cursor → Except Flaw (List Char × Cursor)
  | 0, c => .ok ([], c)
  | fuel + 1, c => do
    let c := c.skipWhile (· = ' ')
    if c.head = '\t' && c.column < margin then c.stop .tabInScalar
    else
      let c := c.skipWhile isBlank
      if isBreak c.head then
        let (others, after) ← readBreaks margin fuel c.skipBreak
        return (breakText c.head :: others, after)
      else return ([], c)

/-- Read a gap. -/
def read (margin : Nat) (c : Cursor) : Except Flaw (Gap × Cursor) := do
  let blanks := c.rest.takeWhile isBlank
  let c := c.skip blanks.length
  if isBreak c.head then
    let (others, after) ← readBreaks margin c.size c.skipBreak
    return (.breaks (some (breakText c.head)) others, after)
  else return (.blanks blanks, c)

/-- Read the rest of a gap behind a line break that does not count. -/
def readEscaped (c : Cursor) : Except Flaw (Gap × Cursor) := do
  let (others, c) ← readBreaks 0 c.size c
  return (.breaks Option.none others, c)

end Gap

end Courier.Yaml
