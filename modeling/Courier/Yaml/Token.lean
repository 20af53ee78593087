import Courier.Yaml.Fault
import Courier.Yaml.Tag

/-!
# The tokens of YAML

A text is first cut into tokens. Among them are the brackets of blocks, which are not written but
follow from indentation, and the marks in front of keys, which can follow from the colon behind
the key.
-/

namespace Courier.Yaml

/-- How a scalar is written. -/
inductive Style where
  | plain
  | singleQuoted
  | doubleQuoted
  | literal
  | folded
deriving DecidableEq, Repr

/-- A token. -/
inductive Token where
  | textEnd
  /-- The version of YAML that a text asks for. -/
  | version (major minor : Nat)
  /-- A handle for tags, and what it stands for. -/
  | tagHandle (handle : String) (stem : Tag)
  | documentStart
  | documentEnd
  | blockSequenceStart
  | blockMappingStart
  | blockEnd
  | flowSequenceStart
  | flowSequenceEnd
  | flowMappingStart
  | flowMappingEnd
  | blockEntry
  | flowEntry
  | key
  | value
  | alias (name : String)
  | anchor (name : String)
  /-- A tag, with its handle or, if that is empty, verbatim. -/
  | tag (handle : String) (suffix : Tag)
  | scalar (style : Style) (text : String)
deriving DecidableEq, Repr

/-- A token and its place. -/
abbrev PlacedToken := Token × Place

end Courier.Yaml
