import Courier.Json.Value
import Courier.Yaml.Node
import Courier.Yaml.Scalar.Meaning

/-!
# Reading the nodes of a document

A reader takes a node for a value of its type, or refuses it. It follows aliases, up to a number
of times that depends on the size of the document, and fails where the tree breaks off. Since a
tree is read in the order of the text, what does not fit in front of a malformed place is
reported first.

A mapping with known keys is a section. Where a sequence or a mapping is expected, nothing at all
stands for an empty one.
-/

namespace Courier.Yaml

/-- What the aliases of a document refer to. -/
structure Anchors where
  nodes : List (Nat × Node)
  /-- How often aliases may be followed. -/
  limit : Nat

/-- Reading something: what aliases refer to, and how often they were followed, are known. -/
abbrev Reading (α : Type) := ReaderT Anchors (StateT Nat (Except Fault)) α

namespace Reading

/-- Fail. -/
def fail {α : Type} (fault : Fault) : Reading α := fun _ _ => .error fault

/-- Refuse what was found. -/
def unfit {α : Type} (what : Mismatch) : Reading α := fail (.unfit what)

/-- The anchors of a document. -/
def anchors : Reading Anchors := fun anchors followed => .ok (anchors, followed)

/-- Count that an alias is followed. -/
def countAlias : Reading Unit := fun anchors followed =>
  if followed < anchors.limit then .ok ((), followed + 1) else .error .tooManyAliases

end Reading

namespace Node

/-- The node that an alias stands for, or the node itself; no text goes on behind a flaw. -/
def follow : Node → Reading Node
  | .alias anchor => do
    Reading.countAlias
    match (← Reading.anchors).nodes.lookup anchor with
    | some node => return node
    | none => Reading.fail .tooManyAliases
  | .broken flaw => Reading.fail (.malformed flaw)
  | node => return node

/-- Refuse a node that is no alias because something else was expected. -/
def refuse {α : Type} (expected : String) : Node → Reading α
  | .scalar tag style text =>
    match Meaning.ofScalar tag style text with
    | .ok meaning => Reading.unfit (.invalidType meaning.found expected)
    | .error what => Reading.unfit what
  | .sequence _ _ => Reading.unfit (.invalidType .sequence expected)
  | .mapping _ _ => Reading.unfit (.invalidType .map expected)
  | .alias _ => Reading.fail .tooManyAliases
  | .broken flaw => Reading.fail (.malformed flaw)

/-! ## Texts, words and lists -/

/-- What a text is called where any will do. -/
def anyText : String := "a string"

/-- The text of a scalar, whatever it means. -/
def readText (expected : String) (node : Node) : Reading String := do
  match ← node.follow with
  | .scalar _ _ text => return text
  | other => refuse expected other

/-- Whether a scalar can stand for an unsigned integer. -/
def isIntegerStyle (tag : Option Tag) (style : Style) : Bool :=
  style = .plain || (style = .literal && tag = some (Tag.core "int"))

/-- An unsigned integer below `2 ^ bits`, where `bits` is at most sixty-four. -/
def readWord (expected : String) (bits : Nat) (node : Node) : Reading Nat := do
  match ← node.follow with
  | .scalar tag style text =>
    match unsigned? text.toList with
    | some n =>
      if !isIntegerStyle tag style || Nat.pow 2 64 ≤ n then refuse expected (.scalar tag style text)
      else if n < Nat.pow 2 bits then return n
      else Reading.unfit (.invalidValue (.integer n) expected)
    | none => refuse expected (.scalar tag style text)
  | other => refuse expected other

/-- The items of a sequence, each read by a reader. -/
def readList {α : Type} (read : Node → Reading α) (node : Node) : Reading (List α) := do
  match ← node.follow with
  | .sequence _ items => items.mapM read
  | other => if other.isBlank then return [] else refuse "a sequence" other

/-! ## Documents of any shape -/

/-- The members of a mapping whose keys are texts; of a repeated key the last value counts. -/
def readMembers (read : Node → Reading Json.Value) :
    String → List (Node × Node) → OrderedMap Json.Value → Reading (OrderedMap Json.Value)
  | _, [], members => return members
  | expected, (key, value) :: rest, members => do
    let name ← key.readText expected
    let value ← read value
    readMembers read anyText rest (members.insert name value)

/-- The document that a scalar stands for. -/
def scalarValue : Meaning → Reading Json.Value
  | .unit => return .null
  | .boolean b => return .boolean b
  | .integer n => return .number (.integer n)
  | .wideInteger _ => Reading.fail .numberOutOfRange
  | .float x => return if x.isFinite then .number (.float x) else .null
  | .text t => return .text t

/-- Refuse a tag that gives a name of its document to the kind of a node. -/
def refuseLocalTag (tag : Option Tag) : Reading Unit :=
  if tag.any fun t => t.localName?.isSome then Reading.unfit (.invalidType .tagged "any valid JSON value")
  else return ()

/-- A document of any shape, of which a reader reads the parts, if parts are allowed. -/
def valueOf (parts : Option (Node → Reading Json.Value)) (node : Node) : Reading Json.Value := do
  match ← node.follow, parts with
  | .scalar tag style text, _ =>
    refuseLocalTag tag
    match Meaning.ofScalar tag style text with
    | .ok meaning => scalarValue meaning
    | .error what => Reading.unfit what
  | .sequence tag items, some read =>
    refuseLocalTag tag
    return .list (← items.mapM read)
  | .mapping tag entries, some read =>
    refuseLocalTag tag
    return .object (← readMembers read "a string key" entries .empty).entries
  | .sequence tag _, none | .mapping tag _, none =>
    refuseLocalTag tag
    Reading.fail .tooDeep
  | other, _ => refuse "any valid JSON value" other

/-- A document of any shape with at most some depth. -/
def readValue : Nat → Node → Reading Json.Value
  | 0 => valueOf none
  | depth + 1 => valueOf (some (readValue depth))

/-! ## Sections -/

/-- The entries of a mapping. -/
def readEntries (expected : String) (node : Node) : Reading (List (Node × Node)) := do
  match ← node.follow with
  | .mapping _ entries => return entries
  | other => if other.isBlank then return [] else refuse expected other

/-- A map from texts to documents with at most some depth. -/
def readDocuments (depth : Nat) (node : Node) : Reading (OrderedMap Json.Value) := do
  readMembers (readValue depth) anyText (← node.readEntries "a map") .empty

end Node

/-- A member of a section that is read into `σ`, which tells what has been given. -/
structure Member (σ : Type) where
  name : String
  given : σ → Bool
  read : Node → σ → Reading σ

namespace Member

/-- Read the entries of a section, each of a known member and each member once. -/
def readAll {σ : Type} (members : List (Member σ)) : List (Node × Node) → σ → Reading σ
  | [], draft => return draft
  | (key, value) :: rest, draft => do
    let name ← key.readText "field identifier"
    match members.find? fun m => m.name = name with
    | none => Reading.unfit (.unknownField name (members.map Member.name))
    | some m =>
      if m.given draft then Reading.unfit (.duplicateField name)
      else readAll members rest (← m.read value draft)

end Member

/-- Read a section, from nothing given. -/
def Node.readSection {σ : Type} (name : String) (members : List (Member σ)) (nothing : σ)
    (node : Node) : Reading σ := do
  Member.readAll members (← node.readEntries ("struct " ++ name)) nothing

/-- Read a document as a whole. -/
def Document.readAs {α : Type} (document : Document) (read : Node → Reading α) :
    Except Fault α := do
  let (a, _) ← read document.root ⟨document.anchors, document.size * 100⟩ 0
  match document.conclusion with
  | .textEnd => return a
  | .anotherDocument => .error .severalDocuments
  | .broken flaw => .error (.malformed flaw)

end Courier.Yaml
