import Courier.Text.Utf8

/-!
# Tags

A tag says of what kind a node is. It is written in characters, of which some can be given by
their bytes alone, and such bytes need not be well formed. So a tag is a row of bytes.

A tag that starts with an exclamation mark is local to its document. What follows the mark is its
name, if it is a text. The other tags are names for all documents, and the core kinds are among
them.
-/

namespace Courier.Yaml

/-- A tag, or a part of one. -/
structure Tag where
  bytes : Bytes
deriving DecidableEq, Repr

namespace Tag

/-- The tag with the characters of a text. -/
def ofText (text : String) : Tag := ⟨Text.Utf8.encode text⟩

/-- What is written of a tag counts up to its first zero byte. -/
def ofWritten (bytes : Bytes) : Tag := ⟨bytes.takeWhile (· ≠ 0)⟩

/-- A tag in two parts. -/
def append (stem suffix : Tag) : Tag := ⟨stem.bytes ++ suffix.bytes⟩

/-- A tag of the core kinds. -/
def core (kind : String) : Tag := ofText ("tag:yaml.org,2002:" ++ kind)

/-- The tag that is an exclamation mark and nothing else. -/
def mark : Tag := ofText "!"

/-- What follows the exclamation mark of a tag that is local to its document. -/
def localBytes? (tag : Tag) : Option Bytes :=
  match tag.bytes with
  | [] => none
  | b :: rest => if b = 0x21 then some rest else none

/-- Whether a tag is local to its document. -/
def isLocal (tag : Tag) : Bool := tag.localBytes?.isSome

/-- The name of a local tag. -/
def localName? (tag : Tag) : Option String := tag.localBytes?.bind Text.Utf8.decode?

end Tag

end Courier.Yaml
