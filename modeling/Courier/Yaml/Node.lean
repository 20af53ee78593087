import Courier.Yaml.Token

/-!
# The nodes of YAML

A document is a tree of scalars, sequences and mappings. An alias stands for the node of an
anchor, which it names by a number. Where a text turns out to be malformed the tree breaks off:
what was read in front of that place is there, and is looked at first.
-/

namespace Courier.Yaml

/-- A node of a document. -/
inductive Node where
  | scalar (tag : Option Tag) (style : Style) (text : String)
  | sequence (tag : Option Tag) (items : List Node)
  | mapping (tag : Option Tag) (entries : List (Node × Node))
  | alias (anchor : Nat)
  /-- The text is malformed here, and no further node is known. -/
  | broken (flaw : Flaw)

namespace Node

/-- A node without text, tag and quotes. -/
def blank : Node := .scalar none .plain ""

/-- Whether a node is a plain scalar without text. -/
def isBlank : Node → Bool
  | .scalar _ .plain text => text.isEmpty
  | _ => false

end Node

/-- What follows the first document of a text. -/
inductive Conclusion where
  | textEnd
  | anotherDocument
  | broken (flaw : Flaw)

/-- The first document of a text. -/
structure Document where
  root : Node
  /-- For the number of each anchor its node; of several the first one in the list counts. -/
  anchors : List (Nat × Node)
  /-- The number of scalars, aliases and ends of sequences and mappings. -/
  size : Nat
  conclusion : Conclusion

end Courier.Yaml
