import Courier.Yaml.Gap

/-!
# Plain scalars

A plain scalar is written without quotes. It ends at a comment, at a colon with a gap behind it,
where a line starts to the left of its block, and inside brackets also at a comma or a bracket.
-/

namespace Courier.Yaml.Plain

/-- The characters that separate nodes inside brackets. -/
def isFlowIndicator (c : Char) : Bool :=
  c = ',' || c = '[' || c = ']' || c = '{' || c = '}'

/-- The length of the next word, and whether it is stopped by a colon that must not stand there. -/
def wordLength (flow : Bool) : List Char → Nat × Bool
  | [] => (0, false)
  | c :: rest =>
    let next := rest.headD endMark
    if isGapOrEnd c then (0, false)
    else if flow && c = ':' && (isFlowIndicator next || next = '?') then (0, true)
    else if c = ':' && isGapOrEnd next then (0, false)
    else if flow && isFlowIndicator c then (0, false)
    else
      let (length, stopped) := wordLength flow rest
      (length + 1, stopped)

/--
Read words behind a gap: the text of both, and whether the last thing passed is a gap with a line
end in it.
-/
def readWords (flow : Bool) (margin : Nat) :
    Nat → Gap → Cursor → Except Flaw (List Char × Bool × Cursor)
  | 0, gap, c => .ok ([], gap.isBroken, c)
  | fuel + 1, gap, c => do
    c.reach 4
    if c.atDocumentMark || c.head = '#' then return ([], gap.isBroken, c)
    else
      match wordLength flow c.rest with
      | (length, true) => (c.skip length).stop .colonInScalar
      | (0, false) => return ([], gap.isBroken, c)
      | (length, false) =>
        let front := gap.text ++ c.rest.take length
        let c := c.skip length
        c.reach 2
        let (next, c) ← Gap.read margin c
        c.reach 1
        if next = Gap.none || (!flow && c.column < margin) then return (front, next.isBroken, c)
        else
          let (more, broken, c) ← readWords flow margin fuel next c
          return (front ++ more, broken, c)

/-- Read a plain scalar: its text, and whether a new line was reached. -/
def read (flow : Bool) (margin : Nat) (c : Cursor) : Except Flaw (List Char × Bool × Cursor) :=
  readWords flow margin (c.size + 1) Gap.none c

end Courier.Yaml.Plain
