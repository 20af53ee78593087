/-!
# What can be read of a text

A text is read in blocks of characters, each as large as a number of bytes in UTF-8 allows. Some
characters may not stand in a text. Such a character spoils its block: what precedes the block can
be read, and the block cannot.
-/

namespace Courier.Yaml

/-- Whether a character may stand in a text. -/
def isAllowed (c : Char) : Bool :=
  let n := c.toNat
  n = 0x09 || n = 0x0A || n = 0x0D || (0x20 ≤ n && n ≤ 0x7E) || n = 0x85
    || (0xA0 ≤ n && n ≤ 0xFFFD) || 0x10000 ≤ n

/-- The number of bytes in UTF-8 that a block has at most. -/
def blockSize : Nat := 16384

/--
What can be read of a text from a block on, and whether a block follows that cannot be read.
`block` holds the characters that the block has so far, the last one first, and it may grow by
`room` bytes.
-/
def readableFrom (room : Nat) (block : List Char) : List Char → List Char × Bool
  | [] => (block.reverse, false)
  | c :: rest =>
    if c.utf8Size ≤ room then
      if isAllowed c then readableFrom (room - c.utf8Size) (c :: block) rest else ([], true)
    else if isAllowed c then
      let (more, cut) := readableFrom (blockSize - c.utf8Size) [c] rest
      (block.reverse ++ more, cut)
    else (block.reverse, true)

/-- The characters in front of the first block that cannot be read, and whether there is one. -/
def readable (text : String) : List Char × Bool := readableFrom blockSize [] text.toList

end Courier.Yaml
